import DeviceQuery.Proofs.Settings.Spelling

/-!
# Layers of settings

Variables are laid over settings. Each of the two variables reaches its own setting only. One that
names a style lays this style over the one below, and a misspelt one leaves it and is reported. The
strictness is what its variable says as soon as that is set, so that a misspelt one turns the check
off without a report (`misspelt_style_kept_strict_lost`). Two layers are as good as one, in which
the upper one counts except for a style that it misspells (`overlays_compose`).
-/

namespace DeviceQuery

namespace Settings

/-- The report of a text that names no style. -/
def unknownStyle (text : String) : Log.Record :=
  ⟨.warn, .settings, "ignoring ROSQUERY_CASE_MODE: Configuration error: unknown case mode: " ++
    (Text.trim text).toLower⟩

/-- What the variable of the style says, if it is set and names no style. -/
def misspelt? (vars : Variables) : Option String :=
  (vars "ROSQUERY_CASE_MODE").filter fun text => ¬NameStyle.Accepted text

/-- One look-up that counts for two: the upper one where it is set, but for a style that it
misspells. -/
structure Layered (lower upper both : Variables) : Prop where
  accepted : ∀ text, upper "ROSQUERY_CASE_MODE" = some text → NameStyle.Accepted text →
    both "ROSQUERY_CASE_MODE" = some text
  otherwise : (∀ text, upper "ROSQUERY_CASE_MODE" = some text → ¬NameStyle.Accepted text) →
    both "ROSQUERY_CASE_MODE" = lower "ROSQUERY_CASE_MODE"
  strict : both "ROSQUERY_STRICT" = (upper "ROSQUERY_STRICT").or (lower "ROSQUERY_STRICT")

variable {s : Settings} {vars : Variables} {text : String}

theorem ext {other : Settings} (style : s.nameStyle = other.nameStyle)
    (strict : s.strict = other.strict) : s = other := by
  cases s
  cases other
  simp_all

/-! ## One layer -/

theorem nameStyle_overlay_of_unset (unset : vars "ROSQUERY_CASE_MODE" = none) :
    (s.overlay vars).1.nameStyle = s.nameStyle := by
  simp [overlay, styleVariable, unset, overlayStyle]

theorem nameStyle_overlay_of_named {style : NameStyle}
    (set : vars "ROSQUERY_CASE_MODE" = some text) (named : style.NamedBy text) :
    (s.overlay vars).1.nameStyle = style := by
  simp [overlay, styleVariable, set, overlayStyle, NameStyle.ofText_eq_ok_iff.mpr named]

theorem nameStyle_overlay_of_misspelt (set : vars "ROSQUERY_CASE_MODE" = some text)
    (misspelt : ¬NameStyle.Accepted text) : (s.overlay vars).1.nameStyle = s.nameStyle := by
  simp [overlay, styleVariable, set, overlayStyle, NameStyle.ofText_of_not_accepted misspelt]

theorem styleWarning_unknown (text : String) :
    styleWarning (.settings ("unknown case mode: " ++ (Text.trim text).toLower)) =
      unknownStyle text := by
  have front : "ignoring " ++ styleVariable ++ ": " ++ "Configuration error: " ++
      "unknown case mode: " =
      "ignoring ROSQUERY_CASE_MODE: Configuration error: unknown case mode: " := by
    decide +kernel
  have assoc (a b c told : String) : a ++ (b ++ (c ++ told)) = a ++ b ++ c ++ told := by
    simp only [String.append_assoc]
  have message (told : String) := (assoc _ _ _ told).trans (congrArg (· ++ told) front)
  exact congrArg (Log.Record.mk .warn .settings) (message _)

theorem reports_overlay (s : Settings) (vars : Variables) :
    (s.overlay vars).2 = (misspelt? vars).toList.map unknownStyle := by
  change (overlayStyle s.nameStyle (vars "ROSQUERY_CASE_MODE")).2 = _
  rw [misspelt?]
  cases vars "ROSQUERY_CASE_MODE" with
  | none => rfl
  | some text =>
    by_cases accepted : NameStyle.Accepted text
    · obtain ⟨style, named⟩ := id accepted
      rw [Option.filter_some_neg (by simpa using accepted), overlayStyle,
        NameStyle.ofText_eq_ok_iff.mpr named]
      rfl
    · rw [Option.filter_some_pos (by simpa using accepted), overlayStyle,
        NameStyle.ofText_of_not_accepted accepted]
      change [styleWarning _] = [unknownStyle text]
      rw [styleWarning_unknown]

theorem strict_overlay (s : Settings) (vars : Variables) :
    (s.overlay vars).1.strict = ((vars "ROSQUERY_STRICT").map isYes).getD s.strict := by
  change overlayStrict s.strict (vars "ROSQUERY_STRICT") = _
  cases vars "ROSQUERY_STRICT" <;> rfl

/-- A style depends on the style below and on its own variable, and so do the reports. -/
theorem nameStyle_overlay_congr {other : Settings} {others : Variables}
    (below : other.nameStyle = s.nameStyle)
    (same : others "ROSQUERY_CASE_MODE" = vars "ROSQUERY_CASE_MODE") :
    (other.overlay others).1.nameStyle = (s.overlay vars).1.nameStyle ∧
      (other.overlay others).2 = (s.overlay vars).2 := by
  constructor
  · change (overlayStyle other.nameStyle (others "ROSQUERY_CASE_MODE")).1 = _
    rw [below, same]
    rfl
  · rw [reports_overlay, reports_overlay, misspelt?, same, misspelt?]

theorem strict_overlay_congr {other : Settings} {others : Variables}
    (below : other.strict = s.strict)
    (same : others "ROSQUERY_STRICT" = vars "ROSQUERY_STRICT") :
    (other.overlay others).1.strict = (s.overlay vars).1.strict := by
  rw [strict_overlay, strict_overlay, below, same]

/-! ## Two layers -/

variable {lower upper both : Variables}

theorem exists_layered (lower upper : Variables) : ∃ both, Layered lower upper both := by
  let style := (upper "ROSQUERY_CASE_MODE").filter fun text => NameStyle.Accepted text
  let both : Variables := fun name =>
    if name = "ROSQUERY_CASE_MODE" then style.or (lower name) else (upper name).or (lower name)
  refine ⟨both, ?_, ?_, by simp [both]⟩
  · intro text set accepted
    simp [both, style, set, Option.filter, accepted]
  · intro misspelt
    have none : style = none := Option.filter_eq_none_iff.mpr (by simpa using misspelt)
    simp [both, none]

theorem overlay_overlay (layered : Layered lower upper both) :
    ((s.overlay lower).1.overlay upper).1 = (s.overlay both).1 := by
  have style : ((s.overlay lower).1.overlay upper).1.nameStyle = (s.overlay both).1.nameStyle := by
    by_cases accepted : ∃ text, upper "ROSQUERY_CASE_MODE" = some text ∧ NameStyle.Accepted text
    · obtain ⟨text, set, style, named⟩ := accepted
      have setBoth := layered.accepted text set ⟨style, named⟩
      rw [nameStyle_overlay_of_named set named, nameStyle_overlay_of_named setBoth named]
    · have misspelt : ∀ text, upper "ROSQUERY_CASE_MODE" = some text → ¬NameStyle.Accepted text :=
        fun text set named => accepted ⟨text, set, named⟩
      have kept : ((s.overlay lower).1.overlay upper).1.nameStyle =
          (s.overlay lower).1.nameStyle := by
        cases set : upper "ROSQUERY_CASE_MODE" with
        | none => exact nameStyle_overlay_of_unset set
        | some text => exact nameStyle_overlay_of_misspelt set (misspelt text set)
      rw [kept]
      exact (nameStyle_overlay_congr rfl (layered.otherwise misspelt)).1.symm
  have strict : ((s.overlay lower).1.overlay upper).1.strict = (s.overlay both).1.strict := by
    rw [strict_overlay, strict_overlay, strict_overlay, layered.strict]
    cases upper "ROSQUERY_STRICT" <;> rfl
  exact Settings.ext style strict

theorem layered_self (vars : Variables) : Layered vars vars vars where
  accepted := fun _ set _ => set
  otherwise := fun _ => rfl
  strict := by cases vars "ROSQUERY_STRICT" <;> rfl

end Settings

/-- Each variable reaches its own setting only. A text that names no style leaves the style below,
and one report names the variable; no other text is reported. A text for the strictness counts as
no unless it says yes: one that says neither turns the check off where it was on, and is not
reported. -/
theorem misspelt_style_kept_strict_lost (base : Settings) (vars : Variables) :
    let left := (base.overlay vars).1
    let reports := (base.overlay vars).2
    (∀ text, vars "ROSQUERY_CASE_MODE" = some text → ¬NameStyle.Accepted text →
      left.nameStyle = base.nameStyle ∧
      reports = [⟨.warn, .settings,
        "ignoring ROSQUERY_CASE_MODE: Configuration error: unknown case mode: " ++
          (Text.trim text).toLower⟩]) ∧
    (∀ text style, vars "ROSQUERY_CASE_MODE" = some text → NameStyle.NamedBy style text →
      left.nameStyle = style ∧ reports = []) ∧
    (vars "ROSQUERY_CASE_MODE" = none → left.nameStyle = base.nameStyle ∧ reports = []) ∧
    (∀ text, vars "ROSQUERY_STRICT" = some text →
      (Settings.Affirms text → left.strict = true) ∧ (Settings.Denies text → left.strict = false) ∧
      (¬Settings.Affirms text → ¬Settings.Denies text →
        left.strict = false ∧ (left.strict = base.strict ↔ base.strict = false))) ∧
    (vars "ROSQUERY_STRICT" = none → left.strict = base.strict) ∧
    ∀ (other : Settings) (others : Variables),
      (other.nameStyle = base.nameStyle →
        others "ROSQUERY_CASE_MODE" = vars "ROSQUERY_CASE_MODE" →
        (other.overlay others).1.nameStyle = left.nameStyle ∧ (other.overlay others).2 = reports) ∧
      (other.strict = base.strict → others "ROSQUERY_STRICT" = vars "ROSQUERY_STRICT" →
        (other.overlay others).1.strict = left.strict) := by
  intro left reports
  have reported : reports = (Settings.misspelt? vars).toList.map Settings.unknownStyle :=
    Settings.reports_overlay base vars
  have strict : left.strict = ((vars "ROSQUERY_STRICT").map Settings.isYes).getD base.strict :=
    Settings.strict_overlay base vars
  refine ⟨?_, ?_, ?_, ?_, ?_, ?_⟩
  · intro text set misspelt
    refine ⟨Settings.nameStyle_overlay_of_misspelt set misspelt, ?_⟩
    rw [reported, Settings.misspelt?, set, Option.filter_some_pos (by simpa using misspelt)]
    rfl
  · intro text style set named
    have accepted : NameStyle.Accepted text := ⟨style, named⟩
    refine ⟨Settings.nameStyle_overlay_of_named set named, ?_⟩
    rw [reported, Settings.misspelt?, set, Option.filter_some_neg (by simpa using accepted)]
    rfl
  · intro unset
    refine ⟨Settings.nameStyle_overlay_of_unset unset, ?_⟩
    rw [reported, Settings.misspelt?, unset]
    rfl
  · intro text set
    have said : left.strict = Settings.isYes text := by rw [strict, set]; rfl
    have off (other : ¬Settings.Affirms text) : left.strict = false := by
      rw [said, Bool.eq_false_iff, ne_eq, Settings.isYes_iff]
      exact other
    refine ⟨fun affirms => said.trans (Settings.isYes_iff.mpr affirms),
      fun denies => off (Settings.not_affirms_of_denies denies), fun other _ => ⟨off other, ?_⟩⟩
    rw [off other]
    exact eq_comm
  · intro unset
    rw [strict, unset]
    rfl
  · intro other others
    exact ⟨Settings.nameStyle_overlay_congr, Settings.strict_overlay_congr⟩

/-- A misspelt style is left and reported, while the text beside it still turns the check on. -/
theorem misspelt_style_kept_strict_lost_camel :
    let vars : Variables := fun name =>
      if name = "ROSQUERY_CASE_MODE" then some " Camel\n"
      else if name = "ROSQUERY_STRICT" then some "YES" else none
    let base : Settings := { nameStyle := .snake }
    (vars "ROSQUERY_CASE_MODE" = some " Camel\n" ∧ ¬NameStyle.Accepted " Camel\n" ∧
      vars "ROSQUERY_STRICT" = some "YES" ∧ Settings.Affirms "YES") ∧
    base.overlay vars = ({ nameStyle := .snake, strict := true }, [⟨.warn, .settings,
      "ignoring ROSQUERY_CASE_MODE: Configuration error: unknown case mode: camel"⟩]) := by
  intro vars base
  have misspelt : ¬NameStyle.Accepted " Camel\n" := by decide +kernel
  have affirms : Settings.Affirms "YES" := by decide +kernel
  obtain ⟨styles, -, -, stricts, -, -⟩ := misspelt_style_kept_strict_lost base vars
  obtain ⟨style, reports⟩ := styles " Camel\n" rfl misspelt
  have strict := (stricts "YES" rfl).1 affirms
  refine ⟨⟨rfl, misspelt, rfl, affirms⟩, Prod.ext (Settings.ext style strict) ?_⟩
  exact reports.trans (by decide +kernel)

/-- A word that is neither a yes nor a no turns off a check that was on, and nothing is reported. -/
theorem misspelt_strict_turns_off :
    let vars : Variables := fun name => if name = "ROSQUERY_STRICT" then some "ture" else none
    (¬Settings.Affirms "ture" ∧ ¬Settings.Denies "ture") ∧
      Settings.overlay { strict := true } vars = ({ strict := false }, []) := by
  exact ⟨by decide +kernel, by decide +kernel⟩

/-- Two layers of variables come to one, so that a layer laid twice is laid once. A misspelt style
is reported for each layer that has one. A text is taken for a style if it is a name of one in any
case between blanks, and turns the check on if it says yes in any case with no blanks around it. -/
theorem overlays_compose (base : Settings) (lower upper : Variables) :
    let once := base.overlay lower
    let twice := once.1.overlay upper
    (∃ both, Settings.Layered lower upper both) ∧
    (∀ both, Settings.Layered lower upper both → twice.1 = (base.overlay both).1) ∧
    (once.1.overlay lower).1 = once.1 ∧
    once.2 ++ twice.2 = ([lower, upper].filterMap Settings.misspelt?).map Settings.unknownStyle ∧
    (∀ text style, NameStyle.ofText text = .ok style ↔ style.NamedBy text) ∧
    ∀ text, upper "ROSQUERY_STRICT" = some text →
      (twice.1.strict = true ↔ Settings.Affirms text) := by
  intro once twice
  refine ⟨Settings.exists_layered lower upper, fun both => Settings.overlay_overlay,
    Settings.overlay_overlay (Settings.layered_self lower), ?_,
    fun _ _ => NameStyle.ofText_eq_ok_iff, ?_⟩
  · rw [Settings.reports_overlay, Settings.reports_overlay]
    cases below : Settings.misspelt? lower <;> cases above : Settings.misspelt? upper <;>
      simp [below, above]
  · intro text set
    rw [Settings.strict_overlay, set]
    exact Settings.isYes_iff

/-- A style that the upper layer misspells lets the lower one through, and a strictness that it
misspells does not. -/
theorem overlays_compose_misspelt :
    let lower : Variables := fun name =>
      if name = "ROSQUERY_CASE_MODE" then some "Snake_Case " else some "yes"
    let upper : Variables := fun name =>
      if name = "ROSQUERY_CASE_MODE" then some "snail" else some " yes"
    let both : Variables := fun name =>
      if name = "ROSQUERY_CASE_MODE" then some "Snake_Case " else some " yes"
    let base : Settings := {}
    Settings.Layered lower upper both ∧
      ((base.overlay lower).1.overlay upper).1 = (base.overlay both).1 ∧
      base.overlay both = ({ nameStyle := .snake, strict := false }, []) ∧
      ((base.overlay lower).2 ++ ((base.overlay lower).1.overlay upper).2).length = 1 ∧
      ¬Settings.Affirms " yes" ∧ ((base.overlay lower).1.overlay upper).1.strict = false := by
  intro lower upper both base
  have misspelt : ¬NameStyle.Accepted "snail" := by decide +kernel
  have layered : Settings.Layered lower upper both := by
    refine ⟨?_, fun _ => rfl, rfl⟩
    intro text set accepted
    cases set
    exact absurd accepted misspelt
  obtain ⟨-, composed, -, reports, -, stricts⟩ := overlays_compose base lower upper
  have off : ¬Settings.Affirms " yes" := by decide +kernel
  refine ⟨layered, composed both layered, by decide +kernel, ?_, off,
    Bool.eq_false_iff.mpr (mt (stricts " yes" rfl).mp off)⟩
  rw [reports]
  decide +kernel

end DeviceQuery
