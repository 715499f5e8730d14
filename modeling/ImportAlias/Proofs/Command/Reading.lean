import ImportAlias.Command.Arguments

/-!
# Arguments that give the colour option

An argument that is read adds to the options, after the one that was held back has been settled, or
waits to be settled itself. An option that may be given once is never taken back: to give it again
is an error. So where `--color` and its value stand among arguments that can be read, the options
hold that value. Written in two arguments the option is found wherever it stands: after `--` there
is no room for both. Written in one it could be the path there.
-/
namespace ImportAlias.Command

/-- An argument as it is typed. -/
def word (s : String) : Bytes := Utf8.encode s.toList

/-- The colour option is given with this value, in two arguments, or in one that no `--` stands
before. -/
def When.IsGivenIn (w : When) (args : List Bytes) : Prop :=
  [word "--color", Utf8.encode w.name] <:+: args ∨
    ∃ before after, args = before ++ (word "--color=" ++ Utf8.encode w.name) :: after ∧
      word "--" ∉ before

theorem exists_of_bind_eq_ok {ε α β : Type} {x : Except ε α} {f : α → Except ε β} {b : β}
    (h : x >>= f = .ok b) : ∃ a, x = .ok a ∧ f a = .ok b := by
  cases x with
  | error e => cases h
  | ok a => exact ⟨a, rfl, h⟩

namespace Options
variable {o o' : Options} {p : Parameter} {value : Bytes} {w : When}

theorem colour?_withParameter (h : o.withParameter p value = .ok o') (hw : o.colour? = some w) :
    o'.colour? = some w := by
  unfold withParameter at h
  dsimp only at h
  by_cases hgiven : o.isGiven p = true
  · rw [if_pos hgiven] at h
    cases h
  · rw [if_neg hgiven] at h
    cases p with
    | colour =>
      rw [isGiven, hw] at hgiven
      exact absurd rfl hgiven
    | _ =>
      obtain ⟨_, -, hpure⟩ := exists_of_bind_eq_ok h
      cases hpure
      exact hw

theorem colour?_withParameter_colour (h : o.withParameter .colour (Utf8.encode w.name) = .ok o') :
    o'.colour? = some w := by
  unfold withParameter at h
  dsimp only at h
  by_cases hgiven : o.isGiven .colour = true
  · rw [if_pos hgiven] at h
    cases h
  · rw [if_neg hgiven] at h
    have hchoose : choose When.all When.name .colour (Utf8.encode w.name) = .ok w := by
      cases w <;> rfl
    rw [hchoose] at h
    cases h
    rfl

theorem colour?_withFlag {f : Flag} (h : o.withFlag f = .ok o') : o'.colour? = o.colour? := by
  cases f with
  | _ =>
    unfold withFlag at h
    dsimp only at h
    split at h
    · cases h
    · cases h
      rfl

theorem colour?_withPath (h : o.withPath value = .ok o') : o'.colour? = o.colour? := by
  unfold withPath at h
  split at h
  · cases h
  · cases h
    rfl

end Options

namespace Reading
variable {r r' r'' : Reading} {p : Parameter} {arg value : Bytes} {w : When}

theorem eq_ok_of_orStop {α : Type} {x : Except UsageError α} {a : α} (h : orStop x = .ok a) :
    x = .ok a := by
  cases x with
  | error e => cases h
  | ok b =>
    cases h
    rfl

/-- A colour that is settled stays, and so does whether there are only paths to come. -/
structure Keeps (r r' : Reading) : Prop where
  onlyPaths : r'.onlyPaths = r.onlyPaths
  colour : ∀ w, r.options.colour? = some w → r'.options.colour? = some w

theorem Keeps.refl (r : Reading) : r.Keeps r := ⟨rfl, fun _ h => h⟩

theorem Keeps.trans (h : r.Keeps r') (h' : r'.Keeps r'') : r.Keeps r'' :=
  ⟨h'.onlyPaths.trans h.onlyPaths, fun w hw => h'.colour w (h.colour w hw)⟩

theorem keeps_settle (h : r.settle = .ok r') : r.Keeps r' := by
  unfold settle at h
  split at h
  · cases h
    exact .refl r
  · cases h
  · obtain ⟨options, hoptions, hpure⟩ := exists_of_bind_eq_ok h
    cases hpure
    exact ⟨rfl, fun w => Options.colour?_withParameter (eq_ok_of_orStop hoptions)⟩
  · obtain ⟨options, hoptions, hpure⟩ := exists_of_bind_eq_ok h
    cases hpure
    refine ⟨rfl, fun w hw => ?_⟩
    rw [← hw]
    exact Options.colour?_withPath (eq_ok_of_orStop hoptions)

/-- What is held back is settled first, and something may be added then. -/
def Goes (r r' : Reading) : Prop := ∃ settled, r.settle = .ok settled ∧ settled.Keeps r'

theorem Goes.trans (h : r.Goes r') (h' : r'.Goes r'') : r.Goes r'' := by
  obtain ⟨settled, hsettle, hkeeps⟩ := h
  obtain ⟨settled', hsettle', hkeeps'⟩ := h'
  exact ⟨settled, hsettle, hkeeps.trans ((keeps_settle hsettle').trans hkeeps')⟩

theorem Goes.onlyPaths (h : r.Goes r') : r'.onlyPaths = r.onlyPaths := by
  obtain ⟨settled, hsettle, hkeeps⟩ := h
  exact hkeeps.onlyPaths.trans (keeps_settle hsettle).onlyPaths

theorem goes_parameter {value? : Option Bytes} (h : r.parameter p value? = .ok r') :
    r.Goes r' := by
  obtain ⟨settled, hsettle, hrest⟩ := exists_of_bind_eq_ok h
  refine ⟨settled, hsettle, ?_⟩
  cases value? with
  | none =>
    cases hrest
    exact ⟨rfl, fun _ hw => hw⟩
  | some value =>
    obtain ⟨options, hoptions, hpure⟩ := exists_of_bind_eq_ok hrest
    cases hpure
    exact ⟨rfl, fun w => Options.colour?_withParameter (eq_ok_of_orStop hoptions)⟩

theorem goes_flag {f : Flag} (h : r.flag f = .ok r') : r.Goes r' := by
  obtain ⟨settled, hsettle, hrest⟩ := exists_of_bind_eq_ok h
  obtain ⟨options, hoptions, hpure⟩ := exists_of_bind_eq_ok hrest
  cases hpure
  refine ⟨settled, hsettle, rfl, fun w hw => ?_⟩
  rw [← hw]
  exact Options.colour?_withFlag (eq_ok_of_orStop hoptions)

theorem stop_ne_ok {s : Stop} : r.stop s ≠ .ok r' := by
  intro h
  obtain ⟨_, -, hthrow⟩ := exists_of_bind_eq_ok h
  cases hthrow

theorem goes_positional (h : r.positional arg = .ok r') :
    r.Goes r' ∧ r.hasPath = false ∧ r'.hasPath = true := by
  unfold positional at h
  dsimp only at h
  by_cases hpath : r.hasPath = true
  · rw [if_pos hpath] at h
    cases h
  · rw [if_neg hpath] at h
    obtain ⟨settled, hsettle, hpure⟩ := exists_of_bind_eq_ok h
    cases hpure
    exact ⟨⟨settled, hsettle, rfl, fun _ hw => hw⟩, by simpa using hpath, rfl⟩

theorem goes_longSwitch (h : r.longSwitch arg = .ok r') : r.Goes r' := by
  unfold longSwitch at h
  dsimp only at h
  split at h
  · cases h
  · exact goes_parameter h
  · split at h
    · cases h
    · split at h
      · exact goes_flag h
      · exact absurd h stop_ne_ok
      · exact absurd h stop_ne_ok
      · exact goes_parameter h

/-- Each letter of a cluster goes on from the one before it. -/
theorem goes_cluster {letters : Bytes} (hne : letters ≠ []) (h : r.cluster letters = .ok r') :
    r.Goes r' := by
  induction letters generalizing r with
  | nil => exact absurd rfl hne
  | cons b rest ih =>
    rw [cluster] at h
    split at h
    · cases h
    · split at h
      · exact goes_parameter h
      · exact goes_parameter h
    · split at h
      · rename_i f _ next hflag
        cases rest with
        | nil =>
          cases h
          exact goes_flag hflag
        | cons b' rest' => exact (goes_flag hflag).trans (ih (List.cons_ne_nil _ _) h)
      · cases h
    · exact absurd h stop_ne_ok
    · exact absurd h stop_ne_ok

/-- A plain argument is the value that an option waits for, or the path. -/
theorem plain_cases (h : r.plain arg = .ok r') :
    (∃ p, r.held? = some (.parameter p none) ∧
      r' = { r with held? := some (.parameter p (some arg)) }) ∨ r.Goes r' := by
  unfold plain at h
  split at h
  · rename_i p hheld
    cases h
    exact Or.inl ⟨p, hheld, rfl⟩
  · exact Or.inr (goes_positional h).1

/-- An argument ends the options, or is the value that an option waits for, or goes on from what is
settled. -/
theorem argument_cases (h : r.argument arg = .ok r') :
    (arg = word "--" ∧ r' = { r with onlyPaths := true }) ∨
      (∃ p, r.held? = some (.parameter p none) ∧
        r' = { r with held? := some (.parameter p (some arg)) }) ∨ r.Goes r' := by
  unfold argument at h
  split at h
  · exact Or.inr (Or.inr (goes_positional h).1)
  · split at h
    · rename_i a b rest
      split at h
      · rename_i hdashes
        simp only [Bool.and_eq_true, decide_eq_true_eq] at hdashes
        obtain ⟨rfl, rfl⟩ := hdashes
        split at h
        · rename_i hrest
          subst hrest
          cases h
          exact Or.inl ⟨rfl, rfl⟩
        · exact Or.inr (Or.inr (goes_longSwitch h))
      · split at h
        · exact Or.inr (Or.inr (goes_cluster (List.cons_ne_nil _ _) h))
        · exact Or.inr (plain_cases h)
    · exact Or.inr (plain_cases h)

/-- The colour is settled, or the option is held back with its value. -/
def HasColour (w : When) (r : Reading) : Prop :=
  r.options.colour? = some w ∨ r.held? = some (.parameter .colour (some (Utf8.encode w.name)))

theorem HasColour.settle (h : r.HasColour w) (hsettle : r.settle = .ok r') :
    r'.options.colour? = some w := by
  rcases h with hcolour | hheld
  · exact (keeps_settle hsettle).colour w hcolour
  · rw [Reading.settle, hheld] at hsettle
    obtain ⟨options, hoptions, hpure⟩ := exists_of_bind_eq_ok hsettle
    cases hpure
    exact Options.colour?_withParameter_colour (eq_ok_of_orStop hoptions)

theorem HasColour.argument (h : r.HasColour w) (harg : r.argument arg = .ok r') :
    r'.HasColour w := by
  rcases argument_cases harg with ⟨-, rfl⟩ | ⟨p, hheld, rfl⟩ | ⟨settled, hsettle, hkeeps⟩
  · exact h
  · rcases h with hcolour | hother
    · exact Or.inl hcolour
    · rw [hheld] at hother
      cases hother
  · exact Or.inl (hkeeps.colour w (h.settle hsettle))

/-- What each of some arguments preserves holds after all of them. -/
theorem foldlM_argument_induction {P : Reading → Prop} {args : List Bytes}
    (hstep : ∀ arg ∈ args, ∀ r r', P r → r.argument arg = .ok r' → P r') (h : P r)
    (hargs : args.foldlM argument r = .ok r') : P r' := by
  induction args generalizing r with
  | nil =>
    cases hargs
    exact h
  | cons arg args ih =>
    rw [List.foldlM_cons] at hargs
    obtain ⟨next, hnext, hrest⟩ := exists_of_bind_eq_ok hargs
    have hrests : ∀ arg ∈ args, ∀ r r', P r → r.argument arg = .ok r' → P r' :=
      fun other hother => hstep other (List.mem_cons_of_mem arg hother)
    exact ih hrests (hstep arg List.mem_cons_self r next h hnext) hrest

/-- Only `--` makes all that follows paths. -/
theorem onlyPaths_of_argument (h : r.argument arg = .ok r') (hne : arg ≠ word "--") :
    r'.onlyPaths = r.onlyPaths := by
  rcases argument_cases h with ⟨rfl, -⟩ | ⟨p, -, rfl⟩ | hgoes
  · exact absurd rfl hne
  · rfl
  · exact hgoes.onlyPaths

theorem argument_of_onlyPaths (h : r.onlyPaths = true) : r.argument arg = r.positional arg := by
  unfold argument
  exact if_pos h

theorem argument_colour (h : r.onlyPaths = false) :
    r.argument (word "--color") = r.parameter .colour none := by
  have hword : word "--color" = [dash, dash, 99, 111, 108, 111, 114] := by decide
  unfold argument
  rw [h, hword]
  rfl

theorem argument_colour_value (h : r.onlyPaths = false) (w : When) :
    r.argument (word "--color=" ++ Utf8.encode w.name) =
      r.parameter .colour (some (Utf8.encode w.name)) := by
  have hword : word "--color=" = [dash, dash, 99, 111, 108, 111, 114, equals] := by decide
  unfold argument
  rw [h, hword]
  cases w <;> rfl

theorem argument_name (h : r.onlyPaths = false) (w : When) :
    r.argument (Utf8.encode w.name) = r.plain (Utf8.encode w.name) := by
  unfold argument
  rw [h]
  cases w <;> rfl

/-- The option in two arguments: where all arguments are paths, the second one is refused. -/
theorem hasColour_of_two (h : r.argument (word "--color") = .ok r')
    (h' : r'.argument (Utf8.encode w.name) = .ok r'') : r''.HasColour w := by
  cases honly : r.onlyPaths with
  | true =>
    rw [argument_of_onlyPaths honly] at h
    obtain ⟨hgoes, -, hpath⟩ := goes_positional h
    rw [argument_of_onlyPaths (hgoes.onlyPaths.trans honly)] at h'
    obtain ⟨-, hfree, -⟩ := goes_positional h'
    rw [hpath] at hfree
    cases hfree
  | false =>
    rw [argument_colour honly] at h
    have honly' : r'.onlyPaths = false := (goes_parameter h).onlyPaths.trans honly
    obtain ⟨settled, -, hpure⟩ := exists_of_bind_eq_ok h
    have hwaits : r'.held? = some (.parameter .colour none) := by
      rw [← Except.ok.inj hpure]
    rw [argument_name honly', plain, hwaits] at h'
    cases h'
    exact Or.inr rfl

/-- The option in one argument. -/
theorem hasColour_of_one (honly : r.onlyPaths = false)
    (h : r.argument (word "--color=" ++ Utf8.encode w.name) = .ok r') : r'.HasColour w := by
  rw [argument_colour_value honly] at h
  obtain ⟨settled, -, hrest⟩ := exists_of_bind_eq_ok h
  obtain ⟨options, hoptions, hpure⟩ := exists_of_bind_eq_ok hrest
  cases hpure
  exact Or.inl (Options.colour?_withParameter_colour (eq_ok_of_orStop hoptions))

end Reading

/-- Arguments that can be read and give the colour option are read as options with that colour. -/
theorem colour?_of_isGivenIn {args : List Bytes} {o : Options} {w : When}
    (h : readArguments args = .ok o) (hgiven : w.IsGivenIn args) : o.colour? = some w := by
  obtain ⟨last, hlast, hrest⟩ := exists_of_bind_eq_ok h
  obtain ⟨settled, hsettle, hpure⟩ := exists_of_bind_eq_ok hrest
  cases hpure
  -- Once the option has been read, it is kept to the end.
  have hkept : ∀ {r : Reading} {after : List Bytes}, r.HasColour w →
      after.foldlM Reading.argument r = .ok last → settled.options.colour? = some w := by
    intro r after hcolour hafter
    have hlast := Reading.foldlM_argument_induction (P := Reading.HasColour w)
      (fun _ _ _ _ hr harg => hr.argument harg) hcolour hafter
    exact hlast.settle hsettle
  rcases hgiven with ⟨before, after, rfl⟩ | ⟨before, after, rfl, hends⟩
  · rw [List.append_assoc, List.foldlM_append] at hlast
    obtain ⟨r, -, hlast⟩ := exists_of_bind_eq_ok hlast
    obtain ⟨r', hr', hlast⟩ := exists_of_bind_eq_ok hlast
    obtain ⟨r'', hr'', hlast⟩ := exists_of_bind_eq_ok hlast
    exact hkept (Reading.hasColour_of_two hr' hr'') hlast
  · rw [List.foldlM_append] at hlast
    obtain ⟨r, hr, hlast⟩ := exists_of_bind_eq_ok hlast
    obtain ⟨r', hr', hlast⟩ := exists_of_bind_eq_ok hlast
    have honly : r.onlyPaths = false := by
      refine Reading.foldlM_argument_induction (P := fun r => r.onlyPaths = false) ?_ rfl hr
      rintro arg harg r r' honly hread
      rw [Reading.onlyPaths_of_argument hread (by rintro rfl; exact hends harg), honly]
    exact hkept (Reading.hasColour_of_one honly hr') hlast

end ImportAlias.Command
