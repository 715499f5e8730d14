import ImportAlias.Proofs.Report.Reading
import ImportAlias.Proofs.Text.Encoding

/-!
# Recovering a summary

The summary that a report holds, found by the names of the members. A summary that can be reported
is recovered from its report; one that cannot be has a path that is no text.
-/
namespace ImportAlias

/-- The path is spelled by a text. -/
def Path.IsUnicode (p : Path) : Prop := ∃ text, Path.ofText text = p

theorem Path.ofText_of_decode? {p : Path} {text : Text} (h : Utf8.decode? p.bytes = some text) :
    Path.ofText text = p :=
  congrArg Path.mk (Utf8.encode_of_decode? h)

theorem Path.isUnicode_iff {p : Path} : p.IsUnicode ↔ ∃ text, Utf8.decode? p.bytes = some text := by
  constructor
  · rintro ⟨text, rfl⟩
    exact ⟨text, Utf8.decode?_encode text⟩
  · rintro ⟨text, htext⟩
    exact ⟨text, Path.ofText_of_decode? htext⟩

namespace Json

def text? : Json → Option Text
  | .text t => some t
  | _ => none

def number? : Json → Option Nat
  | .number n => some n
  | _ => none

def bool? : Json → Option Bool
  | .bool b => some b
  | _ => none

def list? : Json → Option (List Json)
  | .list items => some items
  | _ => none

/-- The member of an object that has a given name. -/
def member? (v : Json) (name : String) : Option Json :=
  match v with
  | .object members => members.lookup name.toList
  | _ => none

end Json

namespace Change

def ofJson? (v : Json) : Option Change := do
  let path ← (← v.member? "path").text?
  let relative ← (← v.member? "relative_path").text?
  let count ← (← v.member? "rewrites").number?
  pure { path := Path.ofText path, relative, count }

theorem ofJson?_of_toJson? {c : Change} {v : Json} (h : c.toJson? = some v) :
    ofJson? v = some c := by
  obtain ⟨path, hpath, hv⟩ := Option.bind_eq_some_iff.1 h
  obtain rfl := Option.some.inj hv
  change some ({ path := Path.ofText path, relative := c.relative, count := c.count } : Change) = _
  rw [Path.ofText_of_decode? hpath]

theorem isUnicode_iff_toJson? {c : Change} : c.path.IsUnicode ↔ ∃ v, c.toJson? = some v := by
  rw [Path.isUnicode_iff]
  constructor
  · rintro ⟨path, hpath⟩
    rw [toJson?, hpath]
    exact ⟨_, rfl⟩
  · rintro ⟨v, hv⟩
    obtain ⟨path, hpath, -⟩ := Option.bind_eq_some_iff.1 hv
    exact ⟨path, hpath⟩

theorem mapM_ofJson? {changes : List Change} {items : List Json}
    (h : changes.mapM toJson? = some items) : items.mapM ofJson? = some changes := by
  induction changes generalizing items with
  | nil =>
    obtain rfl : [] = items := Option.some.inj h
    rfl
  | cons c changes ih =>
    rw [List.mapM_cons] at h
    obtain ⟨item, hitem, hrest⟩ := Option.bind_eq_some_iff.1 h
    obtain ⟨rest, hitems, heq⟩ := Option.bind_eq_some_iff.1 hrest
    obtain rfl := Option.some.inj heq
    rw [List.mapM_cons, ofJson?_of_toJson? hitem, ih hitems]
    rfl

theorem exists_mapM_toJson? {changes : List Change} :
    (∃ items, changes.mapM toJson? = some items) ↔ ∀ c ∈ changes, c.path.IsUnicode := by
  induction changes with
  | nil => exact ⟨fun _ c hc => (List.not_mem_nil hc).elim, fun _ => ⟨[], rfl⟩⟩
  | cons c changes ih =>
    rw [List.forall_mem_cons, isUnicode_iff_toJson?, ← ih, List.mapM_cons]
    constructor
    · rintro ⟨items, h⟩
      obtain ⟨item, hitem, hrest⟩ := Option.bind_eq_some_iff.1 h
      obtain ⟨rest, hitems, -⟩ := Option.bind_eq_some_iff.1 hrest
      exact ⟨⟨item, hitem⟩, ⟨rest, hitems⟩⟩
    · rintro ⟨⟨item, hitem⟩, ⟨rest, hitems⟩⟩
      rw [hitem, hitems]
      exact ⟨_, rfl⟩

end Change

namespace Summary

def ofJson? (v : Json) : Option Summary := do
  let mode ← Mode.ofName? false (← (← v.member? "mode").text?)
  let root ← (← v.member? "root").text?
  let dryRun ← (← v.member? "dry_run").bool?
  let filesScanned ← (← v.member? "files_scanned").number?
  let filesChanged ← (← v.member? "files_changed").number?
  let importsChanged ← (← v.member? "imports_rewritten").number?
  let changes ← (← (← v.member? "changed").list?).mapM Change.ofJson?
  pure { mode, root := Path.ofText root, dryRun, filesScanned, filesChanged, importsChanged,
         changes }

/-- The summary that a text reports. -/
def read? (t : Text) : Option Summary := (Json.read? t).bind ofJson?

theorem ofName?_name (m : Mode) : Mode.ofName? false m.name = some m := by
  cases m <;> decide

theorem ofJson?_of_toJson? {s : Summary} {v : Json} (h : s.toJson? = some v) :
    ofJson? v = some s := by
  obtain ⟨root, hroot, hv⟩ := Option.bind_eq_some_iff.1 h
  obtain ⟨items, hitems, hv⟩ := Option.bind_eq_some_iff.1 hv
  obtain rfl := Option.some.inj hv
  change ((Mode.ofName? false s.mode.name).bind fun mode =>
    (items.mapM Change.ofJson?).bind fun changes => some
      ({ s with mode, root := Path.ofText root, changes } : Summary)) = some s
  rw [ofName?_name, Change.mapM_ofJson? hitems, Path.ofText_of_decode? hroot]
  rfl

theorem read?_render {s : Summary} {v : Json} (h : s.toJson? = some v) :
    read? (v.render 0) = some s := by
  rw [read?, Json.read?_render]
  exact ofJson?_of_toJson? h

/-- A summary can be reported if all of its paths are texts. -/
theorem exists_toJson?_iff {s : Summary} :
    (∃ v, s.toJson? = some v) ↔ s.root.IsUnicode ∧ ∀ c ∈ s.changes, c.path.IsUnicode := by
  rw [Path.isUnicode_iff, ← Change.exists_mapM_toJson?]
  constructor
  · rintro ⟨v, h⟩
    obtain ⟨root, hroot, hv⟩ := Option.bind_eq_some_iff.1 h
    obtain ⟨items, hitems, -⟩ := Option.bind_eq_some_iff.1 hv
    exact ⟨⟨root, hroot⟩, ⟨items, hitems⟩⟩
  · rintro ⟨⟨root, hroot⟩, ⟨items, hitems⟩⟩
    rw [toJson?, hroot, hitems]
    exact ⟨_, rfl⟩

end Summary

end ImportAlias
