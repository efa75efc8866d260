import DeviceQuery.Chain.Basic
import Mathlib.Data.List.Induction

/-!
# What calls do to a chain

A run of calls keeps the path and the settings of a chain, and what it adds to the filter is what
each call adds for itself, one after the other. Of the projections that it sets the last one stays.
-/

attribute [ext] DeviceQuery.Chain

namespace DeviceQuery

/-- What holds at every member of a list and those before it, seen from the last member. -/
theorem forall_cut_append_iff {α : Type} {holds : List α → α → Prop} {l : List α} {last : α} :
    (∀ before x after, l ++ [last] = before ++ x :: after → holds before x) ↔
      (∀ before x after, l = before ++ x :: after → holds before x) ∧ holds l last := by
  constructor
  · intro all
    refine ⟨fun before x after cut => ?_, all l last [] rfl⟩
    exact all before x (after ++ [last]) (by simp [cut])
  · rintro ⟨earlier, here⟩ before x after cut
    -- the member is either the last one or stands among the others
    rcases List.eq_nil_or_concat after with rfl | ⟨rest, other, rfl⟩
    · obtain ⟨rfl, same⟩ := List.append_inj' cut rfl
      cases same
      exact here
    · have inner : l ++ [last] = (before ++ x :: rest) ++ [other] := by simpa using cut
      exact earlier before x rest (List.append_inj' inner rfl).1

namespace Chain

@[simp] theorem apply_path (q : Chain) (call : Call) : (q.apply call).path = q.path := rfl

@[simp] theorem apply_settings (q : Chain) (call : Call) :
    (q.apply call).settings = q.settings := rfl

@[simp] theorem apply_filter (q : Chain) (call : Call) :
    (q.apply call).filter = q.filter ++ call.terms := call.addTo_eq q.filter

@[simp] theorem applyAll_path (q : Chain) (calls : List Call) :
    (q.applyAll calls).path = q.path := by
  induction calls generalizing q with
  | nil => rfl
  | cons call calls ih => exact ih (q.apply call)

@[simp] theorem applyAll_settings (q : Chain) (calls : List Call) :
    (q.applyAll calls).settings = q.settings := by
  induction calls generalizing q with
  | nil => rfl
  | cons call calls ih => exact ih (q.apply call)

@[simp] theorem applyAll_filter (q : Chain) (calls : List Call) :
    (q.applyAll calls).filter = q.filter ++ calls.flatMap Call.terms := by
  induction calls generalizing q with
  | nil => simp [applyAll]
  | cons call calls ih =>
    calc ((q.apply call).applyAll calls).filter
        = (q.apply call).filter ++ calls.flatMap Call.terms := ih (q.apply call)
      _ = q.filter ++ (call :: calls).flatMap Call.terms := by simp

theorem applyAll_projection (q : Chain) (calls : List Call) :
    (q.applyAll calls).projection =
      ((calls.filterMap Call.projection).getLast? <|> q.projection) := by
  induction calls generalizing q with
  | nil => rfl
  | cons call calls ih =>
    have rest : (q.applyAll (call :: calls)).projection = _ := ih (q.apply call)
    rw [rest, List.filterMap_cons, apply]
    cases call.projection with
    | none => rfl
    | some names =>
      dsimp only
      rw [List.getLast?_cons]
      cases (calls.filterMap Call.projection).getLast? <;> rfl

/-- All that counts of some calls is the projection set last and the terms added. -/
theorem applyAll_congr (q : Chain) {calls others : List Call}
    (projection : (others.filterMap Call.projection).getLast? =
      (calls.filterMap Call.projection).getLast?)
    (terms : others.flatMap Call.terms = calls.flatMap Call.terms) :
    q.applyAll others = q.applyAll calls := by
  apply Chain.ext
  · simp
  · rw [applyAll_projection, applyAll_projection, projection]
  · rw [applyAll_filter, applyAll_filter, terms]
  · simp

/-- The words of a sentence: the command, the projection if there is one, and the filter. -/
theorem sentence_words (q : Chain) (action : String) :
    (q.sentence action).words =
      Menu.command q.path action ::
        (q.projection.toList.map fun names => (Word.projection names).text) ++
        q.filter.words := by
  simp [sentence, Sentence.words, Filter.words, Word.text, Function.comp_def]

end Chain

end DeviceQuery
