import TitleSieve.Proofs.Evaluation.Replay

/-!
One cache for many trials. A cache is consistent when each of its entries is what the converter
makes of the entry's text. A trial on a consistent cache adds entries behind those that are there,
and only consistent ones, also when it fails on the way; so it leaves the cache consistent for
whatever is tried next. Trials of any rules on any titles can therefore share a cache, and each
comes to what it comes to without one.
-/

namespace TitleSieve

namespace FormsCache

/-- Every entry is what the converter makes of its text. -/
def Consistent (converter : Converter) (cache : FormsCache) : Prop :=
  ∀ entry ∈ cache, Forms.of converter entry.1 = .ok entry.2

variable {converter : Converter} {cache : FormsCache} {text : Text} {forms : Forms}

theorem Consistent.of_known? (h : cache.Consistent converter)
    (hknown : cache.known? text = some forms) : Forms.of converter text = .ok forms := by
  obtain ⟨before, after, rfl, -⟩ := List.lookup_eq_some_iff.mp hknown
  exact h (text, forms) (List.mem_append_right _ List.mem_cons_self)

theorem Consistent.append_singleton (h : cache.Consistent converter)
    (hforms : Forms.of converter text = .ok forms) :
    (cache ++ [(text, forms)]).Consistent converter := by
  intro entry hentry
  rcases List.mem_append.mp hentry with hentry | hentry
  · exact h entry hentry
  · obtain rfl := List.mem_singleton.mp hentry
    exact hforms

theorem put_of_unknown (h : cache.known? text = none) (forms : Forms) :
    put text forms cache = cache ++ [(text, forms)] := by
  induction cache with
  | nil => rfl
  | cons entry rest ih =>
    obtain ⟨known, old⟩ := entry
    have hknown : known ≠ text := by
      rintro rfl
      rw [known?, List.lookup_cons_self] at h
      cases h
    have hrest : known? rest text = none := by
      have hbeq : (text == known) = false := beq_false_of_ne hknown.symm
      rwa [known?, List.lookup_cons, hbeq] at h
    rw [put, if_neg hknown, ih hrest, List.cons_append]

end FormsCache

namespace Ledger

variable {converter : Converter} {cache : FormsCache} {ledger : Ledger}

/-- The ledger keeps a consistent cache that begins with this one. -/
def Extends (converter : Converter) (cache : FormsCache) (ledger : Ledger) : Prop :=
  ∃ kept, ledger.cache = some kept ∧ cache <+: kept ∧ kept.Consistent converter

theorem extends_self (h : cache.Consistent converter) (submitted : List Text) :
    Extends converter cache ⟨some cache, submitted⟩ :=
  ⟨cache, rfl, List.prefix_rfl, h⟩

theorem Extends.faithful (h : ledger.Extends converter cache) : ledger.Faithful converter := by
  obtain ⟨kept, hkept, -, hconsistent⟩ := h
  intro text forms hknown
  rw [known?, hkept] at hknown
  exact hconsistent.of_known? hknown

/-- To ask for the forms of a text adds at most its entry, and no entry if the converter fails. -/
theorem Extends.forms_snd (h : ledger.Extends converter cache) (text : Text) :
    (ledger.forms converter text).2.Extends converter cache := by
  obtain ⟨kept, hkept, hbegins, hconsistent⟩ := h
  unfold Ledger.forms
  cases hknown : ledger.known? text with
  | some forms => exact ⟨kept, hkept, hbegins, hconsistent⟩
  | none =>
    cases hforms : Forms.of converter text with
    | error fault => exact ⟨kept, hkept, hbegins, hconsistent⟩
    | ok forms =>
      rw [known?, hkept] at hknown
      have hput : (ledger.submit text).remember text forms =
          ⟨some (kept ++ [(text, forms)]), ledger.submitted ++ [text]⟩ := by
        simp only [remember, submit, hkept, Option.map_some, FormsCache.put_of_unknown hknown]
      simp only [hput]
      exact ⟨_, rfl, hbegins.trans (List.prefix_append ..), hconsistent.append_singleton hforms⟩

theorem Extends.visit (h : ledger.Extends converter cache) (texts : List Text) :
    (ledger.visit converter texts).Extends converter cache := by
  induction texts generalizing ledger with
  | nil => exact h
  | cons text rest ih => exact ih (h.forms_snd text)

end Ledger

structure Trial where
  rule : Rule
  title : Text

namespace Trial

variable {converter : Converter} {cache : FormsCache}

def alone (converter : Converter) (trial : Trial) : Except EvaluationFault Bool :=
  trial.rule.alone converter trial.title

def runWith (converter : Converter) (cache : FormsCache) (trial : Trial) :
    Except EvaluationFault Bool × FormsCache :=
  let (outcome, ledger) := trial.rule.accepts converter trial.title ⟨some cache, []⟩
  (outcome, ledger.cache.getD cache)

/-- The trials one after the other on one cache: what each comes to and the cache that it leaves. A
trial that fails does not keep the next one from being made. -/
def runAll (converter : Converter) :
    FormsCache → List Trial → List (Except EvaluationFault Bool × FormsCache)
  | _, [] => []
  | cache, trial :: rest =>
    let left := trial.runWith converter cache
    left :: runAll converter left.2 rest

theorem runWith_cases (h : cache.Consistent converter) (trial : Trial) :
    (trial.runWith converter cache).1 = trial.alone converter ∧
      cache <+: (trial.runWith converter cache).2 ∧
      (trial.runWith converter cache).2.Consistent converter := by
  have hledger := Ledger.extends_self h []
  have hreplays := (trial.rule.halts_accepts converter trial.title).replays
  obtain ⟨kept, hkept, hbegins, hconsistent⟩ :
      (trial.rule.accepts converter trial.title ⟨some cache, []⟩).2.Extends converter cache := by
    rw [hreplays.eq_own hledger.faithful]
    exact hledger.visit _
  have hleft : (trial.runWith converter cache).2 = kept := by
    simp only [runWith, hkept, Option.getD_some]
  rw [hleft]
  exact ⟨hreplays.outcome hledger.faithful, hbegins, hconsistent⟩

/-- Trials may share a cache. If the cache is consistent at the beginning, then each of the
trials, of whatever rules on whatever titles, comes to the same value or the same fault as without
a cache; the cache is consistent after each of them, also after those that fail; and no entry is
ever removed, changed or moved: the cache at any time begins with what it has been at any earlier
time. -/
theorem runAll_as_alone (h : cache.Consistent converter) (trials : List Trial) :
    let left := runAll converter cache trials
    left.map Prod.fst = trials.map (alone converter) ∧
      (∀ kept ∈ left.map Prod.snd, kept.Consistent converter) ∧
      (cache :: left.map Prod.snd).Pairwise (· <+: ·) := by
  induction trials generalizing cache with
  | nil => exact ⟨rfl, by simp [runAll], List.pairwise_singleton _ _⟩
  | cons trial rest ih =>
    obtain ⟨houtcome, hbegins, hconsistent⟩ := runWith_cases h trial
    obtain ⟨houtcomes, hall, hchain⟩ := ih hconsistent
    simp only [runAll, List.map_cons]
    refine ⟨by rw [houtcome, houtcomes], List.forall_mem_cons.mpr ⟨hconsistent, hall⟩, ?_⟩
    refine List.pairwise_cons.mpr
      ⟨List.forall_mem_cons.mpr ⟨hbegins, fun later hlater => ?_⟩, hchain⟩
    exact hbegins.trans (List.rel_of_pairwise_cons hchain hlater)

/-- Forms of a letter are known. The first trial fails between the two variants of a literal that is
the title of the second one; the third one finds its title among the literals of the first. -/
theorem runAll_as_alone_after_failure :
    let converter := Converter.ofTable ⟨[], [], none, some ['x']⟩
    let known : Text × Forms := (['a'], ⟨['a'], ['a'], ['a']⟩)
    let asksFor := fun literals => (⟨[⟨[], [.plain literals]⟩]⟩ : Rule)
    let trials := [⟨asksFor [['a'], ['c'], ['x']], ['b']⟩, ⟨asksFor [['a']], ['x']⟩,
      ⟨asksFor [['b'], ['C']], ['c']⟩]
    let left := runAll converter [known] trials
    FormsCache.Consistent converter [known] ∧
      left.map Prod.fst = [.error (.conversion (.variantB ['x'])),
        .error (.conversion (.variantB ['x'])), .ok true] ∧
      left.map Prod.fst = trials.map (alone converter) ∧
      (∀ kept ∈ left.map Prod.snd, kept.Consistent converter) ∧
      ([known] :: left.map Prod.snd).Pairwise (· <+: ·) := by
  intro converter known asksFor trials left
  have hconsistent : FormsCache.Consistent converter [known] := by
    intro entry hentry
    obtain rfl := List.mem_singleton.mp hentry
    rfl
  exact ⟨hconsistent, rfl, runAll_as_alone hconsistent trials⟩

end Trial

end TitleSieve
