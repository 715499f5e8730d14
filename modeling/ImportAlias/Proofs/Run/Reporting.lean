import ImportAlias.Proofs.Report.Recovery
import ImportAlias.Proofs.Run.Accounting

/-!
# What a run reports

A run that reports for programs writes nothing until it is over, and then its summary in one piece
or nothing at all. So something has been written if and only if the run has ended well, and what has
been written is read as the summary. It does not matter what happens to the tree at the calls.
-/
namespace ImportAlias

/-- What is reported is written; a report that cannot be made is a failure. -/
def Reply.ofReport (edits : List Edit) : Except Text Text → Reply
  | .ok output => { edits, output }
  | .error reason => { edits, failure? := some reason }

/-- Reports for programs, and does something to the tree at each call. -/
def Listener.json {σ : Type} (meddle : σ → Event → Tree → σ × List Edit) : Listener σ where
  hear a e t := ((meddle a e t).1, .ofReport (meddle a e t).2 (Json.report e))

/-- In the states that `Q` names a listener reports for programs, and is left in such a state. -/
structure Listener.Reports {σ : Type} (l : Listener σ) (Q : σ → Prop) : Prop where
  keeps : ∀ a e t, Q a → Q (l.hear a e t).1
  replies : ∀ a e t, Q a → ∃ edits, (l.hear a e t).2 = .ofReport edits (Json.report e)

namespace Json

theorem exists_report_eq_error_iff {summary : Summary} :
    (∃ reason, report (.finish summary) = .error reason) ↔
      ¬ (summary.root.IsUnicode ∧ ∀ c ∈ summary.changes, c.path.IsUnicode) := by
  rw [← Summary.exists_toJson?_iff, report]
  cases summary.toJson? with
  | none => simp
  | some v => simp

end Json

namespace Run

/-- Something has been written if the run has ended well, and then it is one line or more that tell
the summary. -/
structure RoundTrip {σ : Type} (out : Outcome σ) : Prop where
  written_iff : out.state.output ≠ [] ↔ ∃ summary, out.result? = some (.ok summary)
  read : ∀ summary, out.result? = some (.ok summary) →
    ∃ text, out.state.output = text ++ ['\n'] ∧ Summary.read? text = some summary

section Reports
variable {σ : Type} {l : Listener σ} {Q : σ → Prop} {s : Settings} {st : State σ} {w : World σ}

/-- Nothing has been written so far. -/
structure Hushed (Q : σ → Prop) (w : World σ) : Prop where
  listener : Q w.listener
  output : w.output = []

/-- What a call adds to the output, and how it fails. -/
theorem Hushed.reports (hreports : l.Reports Q) (h : Hushed Q w) (e : Event) :
    Q (w.told l e).listener ∧
      ((∃ output, Json.report e = .ok output ∧ (w.told l e).output = output ∧
          w.answer? l e = none) ∨
        ∃ reason, Json.report e = .error reason ∧ (w.told l e).output = [] ∧
          w.answer? l e = some reason) := by
  obtain ⟨edits, hreply⟩ := hreports.replies w.listener e w.tree h.listener
  have houtput : (w.told l e).output = (l.hear w.listener e w.tree).2.output := by
    rw [World.told, h.output, List.nil_append]
  refine ⟨hreports.keeps _ _ _ h.listener, ?_⟩
  rw [houtput, World.answer?, hreply]
  cases Json.report e with
  | ok output => exact Or.inl ⟨output, rfl, rfl, rfl⟩
  | error reason => exact Or.inr ⟨reason, rfl, rfl, rfl⟩

theorem Hushed.told (hreports : l.Reports Q) (h : Hushed Q w) {e : Event}
    (he : Json.report e = .ok []) : Hushed Q (w.told l e) := by
  obtain ⟨hlistener, ⟨output, hreport, houtput, -⟩ | ⟨_, hreason, -⟩⟩ := h.reports hreports e
  · obtain rfl : [] = output := Except.ok.inj (he.symm.trans hreport)
    exact ⟨hlistener, houtput⟩
  · rw [he] at hreason
    cases hreason

theorem Hushed.stored (h : Hushed Q w) (s : Settings) (d : Due) : Hushed Q (stored s w d) := by
  constructor
  · rw [listener_stored]
    exact h.listener
  · rw [output_stored]
    exact h.output

/-- As long as something is left to visit, nothing is written. -/
theorem Hushed.step (hreports : l.Reports Q) (h : Hushed Q st.world) (hpending : st.pending ≠ []) :
    Hushed Q (step l s st).state.world :=
  world_step_of_pending (fun _ d hw => hw.stored s d) (fun _ _ hw => hw.told hreports rfl) hpending h

theorem Hushed.roundTrip {out : Outcome σ} (h : Hushed Q out.state.world)
    (hresult : ∀ summary, out.result? ≠ some (.ok summary)) : RoundTrip out := by
  constructor
  · exact ⟨fun houtput => absurd h.output houtput, fun ⟨summary, hok⟩ => absurd hok (hresult _)⟩
  · intro summary hok
    exact absurd hok (hresult _)

/-- The end of a run is where the summary is written. -/
theorem Hushed.roundTrip_finish (hreports : l.Reports Q) (h : Hushed Q st.world)
    (hpending : st.pending = []) : RoundTrip (Run.step l s st) := by
  obtain ⟨hworld, -, -, hresult⟩ := step_finish (l := l) (s := s) hpending
  have hsaid : (Run.step l s st).state.output = (st.world.told l (.finish st.summary)).output :=
    congrArg World.output hworld
  obtain ⟨hlistener, ⟨output, hreport, houtput, hanswer⟩ | ⟨reason, -, houtput, hanswer⟩⟩ :=
    h.reports hreports (.finish st.summary)
  · rw [hanswer] at hresult
    cases hjson : st.summary.toJson? with
    | none =>
      rw [Json.report, hjson] at hreport
      cases hreport
    | some v =>
      rw [Json.report, hjson] at hreport
      obtain rfl := Except.ok.inj hreport
      rw [houtput] at hsaid
      constructor
      · refine ⟨fun _ => ⟨st.summary, hresult⟩, fun _ => ?_⟩
        simp [hsaid]
      · intro summary hok
        obtain rfl : st.summary = summary := by simpa [hresult] using hok
        exact ⟨v.render 0, hsaid, Summary.read?_render hjson⟩
  · rw [hanswer] at hresult
    have hhushed : Hushed Q (Run.step l s st).state.world := by
      rw [hworld]
      exact ⟨hlistener, houtput⟩
    exact hhushed.roundTrip (by simp [hresult])

theorem roundTrip_of_reports (hreports : l.Reports Q) {a : σ} (ha : Q a) (s : Settings) (t : Tree)
    (budget : Nat) : RoundTrip (heard budget l a s t) := by
  have hends : Ends l s (fun st => Hushed Q st.world) (fun st => Hushed Q st.world)
      (heard budget l a s t) := by
    refine ends_heard ⟨ha, rfl⟩ ?_ (fun _ h => h) ?_ (fun _ h => h.step hreports) budget
    · intro _
      obtain ⟨hworld, -⟩ := call_told l (initial s a t) (.start s)
      rw [hworld]
      exact Hushed.told hreports ⟨ha, rfl⟩ rfl
    · intro st h hgoes
      refine h.step hreports ?_
      intro hpending
      obtain ⟨-, -, -, hresult⟩ := step_finish (l := l) (s := s) hpending
      rw [hgoes] at hresult
      cases hresult
  cases hends with
  | finished h hpending hout =>
    rw [hout]
    exact h.roundTrip_finish hreports hpending
  | unfinished h hresult => exact h.roundTrip (by simp [hresult])
  | stopped h hresult => exact h.roundTrip (by simp [hresult])

theorem reports_json (meddle : σ → Event → Tree → σ × List Edit) :
    (Listener.json meddle).Reports fun _ => True := by
  constructor
  · intro _ _ _ _
    trivial
  · intro a e t _
    exact ⟨_, rfl⟩

theorem reports_reporting (cwd : Path) : (reporting cwd).Reports (· = Reporter.json) := by
  have hhear : ∀ e t, (reporting cwd).hear .json e t = (.json, .ofReport [] (Json.report e)) := by
    intro e t
    have hstep : Reporter.json.step cwd e = (.json, Json.report e) := rfl
    simp only [reporting, hstep]
    cases Json.report e <;> rfl
  constructor
  · rintro _ e t rfl
    rw [hhear]
  · rintro _ e t rfl
    rw [hhear]
    exact ⟨[], rfl⟩

/-- Whatever is done to the tree at the calls, a run that reports for programs has written something
if and only if it has ended well, and the summary is read back from it. The same holds of a run that
nothing interferes with. The end of a run is refused if and only if some path in the summary is no
text. -/
theorem roundTrip_json (meddle : σ → Event → Tree → σ × List Edit) (a : σ) (s : Settings)
    (t : Tree) (budget : Nat) :
    RoundTrip (heard budget (.json meddle) a s t) ∧ RoundTrip (reported .json s t) ∧
      ∀ cwd summary,
        (∃ reason, (Reporter.json.step cwd (.finish summary)).2 = .error reason) ↔
          ¬ (summary.root.IsUnicode ∧ ∀ c ∈ summary.changes, c.path.IsUnicode) := by
  refine ⟨?_, ?_, ?_⟩
  · exact roundTrip_of_reports (reports_json meddle) trivial s t budget
  · exact roundTrip_of_reports (reports_reporting t.cwdPath) rfl s t (Walk.budget t)
  · intro cwd summary
    exact Json.exists_report_eq_error_iff

end Reports

end Run

end ImportAlias
