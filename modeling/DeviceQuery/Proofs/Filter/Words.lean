import DeviceQuery.Proofs.Filter.Balance

/-!
# A filter and its words

The check looks at terms, the device at words alone. A word says what its term is unless a name
makes it look like something else: a name that starts with `#` after a bare question mark, or a
plain name that starts with `?` (`rawEffect_word_iff`). Where no name does so, a filter and its
words, taken as raw words, are checked alike (`check_words`), and every name that does so shows in
some filter (`clear_iff_check`).

Most of such names do no harm. A word that the check knows less of than the device can only leave
more values on the stack, or end what can be known, unless it is the word of an operator. So where
no condition is sent as the word of an operator, the words of an accepted filter are accepted
(`check_words_of_undisguised`), and one that is sent so shows by itself (`disguised_iff_check`).
-/

namespace DeviceQuery

/-- What a name may not start with if its word is to say what it is. -/
def Marker.pitfall : Marker → Char
  | query => '#'
  | plain => '?'

/-- The word of the condition cannot be taken for anything else. A comparison sign before the name
keeps it apart from all other words. -/
def Condition.Clear (c : Condition) : Prop :=
  c.comparison = .equal → c.name.toList.head? ≠ some c.marker.pitfall

instance (c : Condition) : Decidable c.Clear :=
  inferInstanceAs (Decidable (c.comparison = .equal → c.name.toList.head? ≠ some c.marker.pitfall))

/-- The word of the term cannot be taken for anything else. -/
def Term.Clear : Term → Prop
  | condition c => c.Clear
  | operator _ | raw _ => True

instance : DecidablePred Term.Clear
  | .condition c => inferInstanceAs (Decidable c.Clear)
  | .operator _ | .raw _ => inferInstanceAs (Decidable True)

/-- A condition that is sent as the word of an operator. -/
def Term.Disguised : Term → Prop
  | condition c => (Operator.ofWord? c.word).isSome
  | operator _ | raw _ => False

instance : DecidablePred Term.Disguised
  | .condition c => inferInstanceAs (Decidable ((Operator.ofWord? c.word).isSome = true))
  | .operator _ | .raw _ => inferInstanceAs (Decidable False)

theorem Term.disguised_iff {t : Term} :
    t.Disguised ↔ ∃ c op, t = .condition c ∧ c.word = Operator.word op := by
  cases t <;> simp [Disguised, Option.isSome_iff_exists, Operator.ofWord?_eq_some_iff]

/-! ## Single words -/

/-- A raw word leaves the stack alone exactly if it does not start with `?`. -/
theorem rawEffect_eq_skip_iff {word : String} :
    rawEffect word = .skip ↔ word.toList.head? ≠ some '?' := by
  unfold rawEffect
  rcases chars : word.toList with _ | ⟨c, rest⟩
  · simp
  by_cases marked : c = '?'
  · subst marked
    rcases rest with _ | ⟨d, rest⟩
    · simp
    by_cases opened : d = '#'
    · subst opened
      cases Operator.ofWord? word <;> simp
    · simp [opened]
  · simp [marked]

/-- A raw word that starts with `?` is an operand exactly if it does not start with `?#`. -/
theorem rawEffect_eq_push_iff {word : String} {rest : List Char}
    (chars : word.toList = '?' :: rest) : rawEffect word = .push ↔ rest.head? ≠ some '#' := by
  unfold rawEffect
  rw [chars]
  rcases rest with _ | ⟨d, rest⟩
  · simp
  by_cases opened : d = '#'
  · subst opened
    cases Operator.ofWord? word <;> simp
  · simp [opened]

theorem rawEffect_operator (op : Operator) : rawEffect op.word = .apply op := by
  cases op <;> decide

theorem rawEffect_eq_apply_iff {word : String} {op : Operator} :
    rawEffect word = .apply op ↔ word = op.word :=
  (@Term.effect_eq_apply_iff (.raw word) op).trans Operator.ofWord?_eq_some_iff

/-- What stands after the name in the word of a condition. -/
def Condition.ending (c : Condition) : String := if c.value = "" then "" else "=" ++ c.value

theorem Condition.word_toList (c : Condition) :
    c.word.toList = c.marker.sign.toList ++
      (c.comparison.sign.toList ++ (c.name.toList ++ c.ending.toList)) := by
  simp [word, ending]

/-- What follows the marker in a word starts with the marker's pitfall exactly if the condition is
not clear. -/
theorem Condition.clear_iff_head (c : Condition) :
    c.Clear ↔ (c.comparison.sign.toList ++ (c.name.toList ++ c.ending.toList)).head? ≠
      some c.marker.pitfall := by
  have ending : c.ending.toList.head? ≠ some c.marker.pitfall := by
    unfold Condition.ending
    split
    · simp
    · cases c.marker <;> simp [Marker.pitfall]
  unfold Clear
  cases comparison : c.comparison with
  | equal =>
    cases chars : c.name.toList with
    | nil => simpa [Comparison.sign] using ending
    | cons d rest => simp [Comparison.sign]
  | greater => cases c.marker <;> simp [Comparison.sign, Marker.pitfall]
  | less => cases c.marker <;> simp [Comparison.sign, Marker.pitfall]
  | absent => cases c.marker <;> simp [Comparison.sign, Marker.pitfall]

/-- The word of a term, taken for itself, has the term's effect exactly if the term is clear. -/
theorem rawEffect_word_iff (t : Term) : rawEffect t.word = t.effect ↔ t.Clear := by
  cases t with
  | condition c =>
    have chars := c.word_toList
    refine Iff.trans ?_ c.clear_iff_head.symm
    simp only [Term.word, Term.effect]
    cases marker : c.marker with
    | query =>
      rw [marker] at chars
      exact rawEffect_eq_push_iff (chars.trans (by simp [Marker.sign]))
    | plain =>
      rw [marker] at chars
      rw [rawEffect_eq_skip_iff, chars]
      simp [Marker.sign, Marker.pitfall]
  | operator op => simp [Term.word, Term.effect, Term.Clear, rawEffect_operator]
  | raw word => simp [Term.word, Term.effect, Term.Clear]

/-- What the device does at a word does not take away more than what is known of its term: it is the
same, or unknown, or a value on the stack where there should be none. -/
def Effect.AtLeast (known : Effect) : Effect → Prop
  | .unknown => True
  | .push => known = .push ∨ known = .skip
  | heard => heard = known

theorem rawEffect_word_atLeast {t : Term} (undisguised : ¬t.Disguised) :
    t.effect.AtLeast (rawEffect t.word) := by
  by_cases clear : t.Clear
  · rw [(rawEffect_word_iff t).mpr clear]
    cases t.effect <;> simp [Effect.AtLeast]
  · cases t with
    | operator op => exact absurd trivial clear
    | raw word => exact absurd trivial clear
    | condition c =>
      have known : c.marker = .query ∧ (Term.condition c).effect = .push ∨
          (Term.condition c).effect = .skip := by
        cases marker : c.marker <;> simp [Term.effect, marker]
      cases heard : rawEffect (Term.condition c).word with
      | unknown => trivial
      | push => exact known.imp And.right id
      | apply op =>
        have same := rawEffect_eq_apply_iff.mp heard
        exact absurd (Term.disguised_iff.mpr ⟨c, op, rfl, same⟩) undisguised
      | skip =>
        rcases known with ⟨marker, -⟩ | skips
        · -- a word with a question mark in front never leaves the stack alone
          have marked : c.word.toList.head? = some '?' := by
            simp [c.word_toList, marker, Marker.sign]
          exact absurd marked (rawEffect_eq_skip_iff.mp heard)
        · exact skips.symm

namespace Filter

/-! ## Whole filters -/

/-- The check reads nothing of the terms but their effects. -/
theorem checkFrom_congr {f g : Filter} (same : f.map Term.effect = g.map Term.effect)
    (position height : Nat) : checkFrom position height f = checkFrom position height g := by
  induction f generalizing g position height with
  | nil =>
    have empty : g = [] := List.map_eq_nil_iff.mp same.symm
    rw [empty]
  | cons t f ih =>
    obtain ⟨u, g, rfl, effect, rest⟩ := List.map_eq_cons_iff.mp same.symm
    simp only [checkFrom, effect]
    cases t.effect with
    | push => exact ih rest.symm _ _
    | skip => exact ih rest.symm _ _
    | unknown => rfl
    | apply op =>
      dsimp only
      rw [ih rest.symm]

/-- The words of a filter as the device hears them, each told by its characters alone. -/
def heard (words : List String) : Filter := words.map Term.raw

/-- Clear terms are checked like their words. -/
theorem check_words {f : Filter} (clear : ∀ t ∈ f, t.Clear) :
    (heard f.words).check = f.check := by
  apply checkFrom_congr
  simp only [heard, words, List.map_map]
  apply List.map_congr_left
  intro t member
  exact (rawEffect_word_iff t).mpr (clear t member)

/-- With at least as many values on the stack, the words of accepted terms are accepted if none of
the terms is sent as the word of an operator. -/
theorem checkFrom_words {f : Filter} (undisguised : ∀ t ∈ f, ¬t.Disguised)
    {position height more : Nat} (enough : height ≤ more)
    (accepted : checkFrom position height f = .ok ()) :
    checkFrom position more (heard f.words) = .ok () := by
  induction f generalizing position height more with
  | nil => rfl
  | cons t f ih =>
    obtain ⟨here, later⟩ := List.forall_mem_cons.mp undisguised
    have atLeast := rawEffect_word_atLeast here
    change checkFrom position more (.raw t.word :: heard (words f)) = .ok ()
    have effect : (Term.raw t.word).effect = rawEffect t.word := rfl
    rw [checkFrom, effect]
    rw [checkFrom] at accepted
    cases word : rawEffect t.word with
    | unknown => rfl
    | push =>
      rw [word] at atLeast
      rcases atLeast with known | known <;> rw [known] at accepted
      · exact ih later (Nat.succ_le_succ enough) accepted
      · exact ih later (Nat.le_succ_of_le enough) accepted
    | skip =>
      rw [word] at atLeast
      have known : t.effect = .skip := Eq.symm atLeast
      rw [known] at accepted
      exact ih later enough accepted
    | apply op =>
      rw [word] at atLeast
      have known : t.effect = .apply op := Eq.symm atLeast
      rw [known] at accepted
      dsimp only at accepted ⊢
      split at accepted
      · cases accepted
      · next fits =>
        rw [if_neg (by omega)]
        exact ih later (by omega) accepted

theorem check_words_of_undisguised {f : Filter} (undisguised : ∀ t ∈ f, ¬t.Disguised)
    (accepted : f.check = .ok ()) : (heard f.words).check = .ok () :=
  checkFrom_words undisguised (Nat.le_refl 0) accepted

/-- A condition that is sent as the word of an operator is accepted by itself, and its word is
not. -/
theorem disguised_iff_check (t : Term) :
    t.Disguised ↔ check [t] = .ok () ∧ (heard (words [t])).check ≠ .ok () := by
  constructor
  · intro disguised
    obtain ⟨c, op, rfl, same⟩ := Term.disguised_iff.mp disguised
    constructor
    · cases marker : c.marker <;> simp [check, checkFrom, Term.effect, marker]
    · have lacks : rawEffect (Term.condition c).word = .apply op := rawEffect_eq_apply_iff.mpr same
      simp [check, checkFrom, heard, words, Term.effect, lacks, op.arity_pos]
  · rintro ⟨accepted, refused⟩
    refine Classical.byContradiction fun undisguised => refused ?_
    exact check_words_of_undisguised (List.forall_mem_singleton.mpr undisguised) accepted

/-- Where no operator lacks operands does not depend on where the terms are counted from. -/
theorem checkFrom_eq_ok_iff_check (position : Nat) (f : Filter) :
    checkFrom position 0 f = .ok () ↔ f.check = .ok () := by
  have values := filter_valued (fun _ => true) f.checked
  exact (checkFrom_eq_ok_iff values position []).trans (checkFrom_eq_ok_iff values 0 []).symm

/-- Terms at the front that leave the stack alone do not count. -/
theorem check_append_eq_ok_iff {f : Filter} (skips : ∀ t ∈ f, t.effect = .skip) (g : Filter) :
    (f ++ g).check = .ok () ↔ g.check = .ok () := by
  have passed : check (f ++ g) = checkFrom f.length 0 g := by
    rw [check, checkFrom_skips skips, Nat.zero_add]
  rw [passed]
  exact checkFrom_eq_ok_iff_check _ g

/-- Every operator among the words has its operands among the words before it, up to the first
unknown word. -/
def Supplied (words : List String) : Prop := ∀ position op, ¬ (heard words).Lacks position op

theorem supplied_iff (words : List String) : Supplied words ↔ (heard words).check = .ok () :=
  check_eq_ok_iff_not_lacks.symm

/-- Words that do not start with `?` lack nothing and add nothing. -/
theorem supplied_append_iff {front : List String}
    (unmarked : ∀ word ∈ front, word.toList.head? ≠ some '?') (words : List String) :
    Supplied (front ++ words) ↔ Supplied words := by
  have skips : ∀ t ∈ heard front, t.effect = .skip := by
    intro t member
    obtain ⟨word, within, rfl⟩ := List.mem_map.mp member
    exact rawEffect_eq_skip_iff.mpr (unmarked word within)
  rw [supplied_iff, supplied_iff, heard, List.map_append]
  exact check_append_eq_ok_iff skips (heard words)

theorem supplied_of_unmarked {words : List String}
    (unmarked : ∀ word ∈ words, word.toList.head? ≠ some '?') : Supplied words := by
  have empty : Supplied [] := (supplied_iff []).mpr rfl
  simpa using (supplied_append_iff unmarked []).mpr empty

/-- Before an operator with two operands, what the check says of a single term. -/
theorem check_pair (t : Term) :
    check [t, .raw Operator.and.word] =
      match t.effect with
      | .push => .error ⟨.and, 1, 2, 1⟩
      | .skip => .error ⟨.and, 1, 2, 0⟩
      | .unknown => .ok ()
      | .apply op => .error ⟨op, 0, op.arity, 0⟩ := by
  have operator : (Term.raw Operator.and.word).effect = .apply .and := rawEffect_operator .and
  simp only [check, checkFrom, operator]
  cases t.effect with
  | apply op => simp [op.arity_pos]
  | push => rfl
  | skip => rfl
  | unknown => rfl

/-- There the check tells terms of different effects apart. -/
theorem check_pair_eq_iff (t u : Term) :
    check [t, .raw Operator.and.word] = check [u, .raw Operator.and.word] ↔
      t.effect = u.effect := by
  rw [check_pair, check_pair]
  constructor
  · intro same
    cases first : t.effect <;> cases second : u.effect <;> simp_all
  · intro same
    rw [same]

/-- A term that is not clear shows in the check of a filter and its words. -/
theorem clear_iff_check (t : Term) :
    t.Clear ↔ (heard (words [t, .raw Operator.and.word])).check =
      check [t, .raw Operator.and.word] :=
  (rawEffect_word_iff t).symm.trans (check_pair_eq_iff (.raw t.word) t).symm

end Filter

end DeviceQuery
