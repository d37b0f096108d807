import Constituency.Closure
import Constituency.Proofs.Score

/-!
# Chains of unary rules

A chain is a list of rules, each of which starts where the one before it ends; the empty chain leads
from every symbol to itself. Its total is the sum of the scores of its rules. When no cycle of rules
has a positive total, a cycle can be cut out of a chain without loss (`total_append_cycle_le`).
-/
namespace Constituency

variable {σ : Type}

/-- Rules lead down from a symbol to another one. -/
def Leads : Symbol → List (UnaryRule σ) → Symbol → Prop
  | p, [], c => p = c
  | p, r :: rs, c => r.parent = p ∧ Leads r.child rs c

/-- The sum of the scores of rules. -/
def total [Score σ] (rs : List (UnaryRule σ)) : σ :=
  rs.foldr (fun r s => Score.add r.score s) Score.zero

/-- The rules that lead from a symbol to a different one. -/
def properRules (rules : List (UnaryRule σ)) : List (UnaryRule σ) :=
  rules.filter fun r => r.parent ≠ r.child

/-- No cycle of rules has a positive total. -/
def NoPositiveCycle [Score σ] [OrderedScore σ] (rules : List (UnaryRule σ)) : Prop :=
  ∀ x rs, (∀ r ∈ rs, r ∈ rules) → Leads x rs x → total rs ≤ Score.zero

/-- The totals of all chains of rules between two symbols. -/
def chainTotals [Score σ] (rules : List (UnaryRule σ)) (p c : Symbol) : Set σ :=
  {s | ∃ rs, (∀ r ∈ rs, r ∈ rules) ∧ Leads p rs c ∧ total rs = s}

/-- The best score of the rules from a symbol to another one. -/
def bestRuleScore [Score σ] (rules : List (UnaryRule σ)) (p c : Symbol) : σ :=
  (rules.filter fun r => r.parent = p ∧ r.child = c).foldr
    (fun r s => if Score.lt s r.score then r.score else s) Score.bottom

/-- The symbols of a chain that starts at a symbol. -/
def symbolsFrom (p : Symbol) (rs : List (UnaryRule σ)) : List Symbol := p :: rs.map (·.child)

@[simp] theorem mem_properRules {rules : List (UnaryRule σ)} {r : UnaryRule σ} :
    r ∈ properRules rules ↔ r ∈ rules ∧ r.parent ≠ r.child := by
  simp [properRules]

@[simp] theorem leads_nil {p c : Symbol} : Leads (σ := σ) p [] c ↔ p = c := Iff.rfl

@[simp] theorem leads_cons {p c : Symbol} {r : UnaryRule σ} {rs : List (UnaryRule σ)} :
    Leads p (r :: rs) c ↔ r.parent = p ∧ Leads r.child rs c := Iff.rfl

theorem leads_append {p c : Symbol} {as bs : List (UnaryRule σ)} :
    Leads p (as ++ bs) c ↔ ∃ m, Leads p as m ∧ Leads m bs c := by
  induction as generalizing p with
  | nil => simp
  | cons r as ih => simp [ih, and_assoc]

theorem Leads.append {p m c : Symbol} {as bs : List (UnaryRule σ)} (ha : Leads p as m)
    (hb : Leads m bs c) : Leads p (as ++ bs) c :=
  leads_append.mpr ⟨m, ha, hb⟩

/-- A chain ends at the lower end of its last rule. -/
theorem Leads.mem_of_ne_nil {p c : Symbol} {rs : List (UnaryRule σ)} (h : Leads p rs c)
    (hne : rs ≠ []) : c ∈ rs.map (·.child) := by
  induction rs generalizing p with
  | nil => contradiction
  | cons r rs ih =>
    by_cases hrs : rs = []
    · subst hrs
      simp [leads_nil.mp h.2]
    · exact List.mem_cons_of_mem _ (ih h.2 hrs)

/-- A chain can be taken apart at every symbol that it comes to. -/
theorem Leads.split {p c q : Symbol} {rs : List (UnaryRule σ)} (h : Leads p rs c)
    (hq : q ∈ symbolsFrom p rs) :
    ∃ as bs, rs = as ++ bs ∧ Leads p as q ∧ Leads q bs c := by
  induction rs generalizing p with
  | nil =>
    have hqp : q = p := by simpa [symbolsFrom] using hq
    exact ⟨[], [], rfl, hqp.symm, hqp ▸ h⟩
  | cons r rs ih =>
    rcases List.mem_cons.mp hq with rfl | hq
    · exact ⟨[], r :: rs, rfl, rfl, h⟩
    · obtain ⟨as, bs, rfl, ha, hb⟩ := ih h.2 hq
      exact ⟨r :: as, bs, rfl, ⟨h.1, ha⟩, hb⟩

section Total

variable [Score σ] [LawfulScore σ]

@[simp] theorem total_nil : total ([] : List (UnaryRule σ)) = 0 := rfl

@[simp] theorem total_cons (r : UnaryRule σ) (rs : List (UnaryRule σ)) :
    total (r :: rs) = r.score + total rs := rfl

@[simp] theorem total_append (as bs : List (UnaryRule σ)) :
    total (as ++ bs) = total as + total bs := by
  induction as with
  | nil => simp
  | cons r as ih => simp [ih, add_assoc]

theorem total_ne_bot {rs : List (UnaryRule σ)} (h : ∀ r ∈ rs, r.score ≠ ⊥) : total rs ≠ ⊥ := by
  induction rs with
  | nil => simp
  | cons r rs ih =>
    simp only [total_cons, ne_eq, Score.add_eq_bot, not_or]
    exact ⟨h r (by simp), ih fun q hq => h q (by simp [hq])⟩

/-- A cycle in the middle of a chain does not raise its total. -/
theorem total_append_cycle_le {rules cycle : List (UnaryRule σ)} (hc : NoPositiveCycle rules)
    (hm : ∀ r ∈ cycle, r ∈ rules) {x : Symbol} (hx : Leads x cycle x) (as bs : List (UnaryRule σ)) :
    total (as ++ cycle ++ bs) ≤ total (as ++ bs) := by
  have h : total cycle ≤ 0 := hc x cycle hm hx
  calc total (as ++ cycle ++ bs) = total as + total cycle + total bs := by
        simp only [total_append]
    _ ≤ total as + 0 + total bs := by gcongr
    _ = total (as ++ bs) := by simp

/-- Rules that raise nothing form no positive cycle. -/
theorem noPositiveCycle_of_nonpos {rules : List (UnaryRule σ)} (h : ∀ r ∈ rules, r.score ≤ 0) :
    NoPositiveCycle rules := by
  intro x rs hm hl
  clear hl
  induction rs with
  | nil => exact le_rfl
  | cons r rs ih =>
    have hrs : total rs ≤ 0 := ih fun q hq => hm q (by simp [hq])
    have hr := h r (hm r (by simp))
    calc total (r :: rs) ≤ 0 + 0 := add_le_add hr hrs
      _ = 0 := add_zero 0

theorem NoPositiveCycle.proper {rules : List (UnaryRule σ)} (h : NoPositiveCycle rules) :
    NoPositiveCycle (properRules rules) :=
  fun x rs hm hl => h x rs (fun r hr => (mem_properRules.mp (hm r hr)).1) hl

omit [Score σ] [LawfulScore σ] in
/-- The rules that stay at a symbol can be left out of a chain. -/
theorem Leads.proper {p c : Symbol} {rs : List (UnaryRule σ)} (h : Leads p rs c) :
    Leads p (properRules rs) c := by
  induction rs generalizing p with
  | nil => exact h
  | cons r rs ih =>
    obtain ⟨rfl, h⟩ := h
    have hrs := ih h
    simp only [properRules, List.filter_cons] at hrs ⊢
    by_cases hr : r.parent = r.child
    · simpa [hr] using hrs
    · simpa [hr] using hrs

theorem total_le_proper {rules rs : List (UnaryRule σ)} (h : NoPositiveCycle rules)
    (hm : ∀ r ∈ rs, r ∈ rules) : total rs ≤ total (properRules rs) := by
  induction rs with
  | nil => exact le_rfl
  | cons r rs ih =>
    have hrs := ih fun q hq => hm q (by simp [hq])
    simp only [properRules, List.filter_cons] at hrs ⊢
    by_cases hr : r.parent = r.child
    · have hloop : r.score + 0 ≤ 0 :=
        h r.parent [r] (by simpa using hm r (by simp)) ⟨rfl, hr.symm⟩
      rw [add_zero] at hloop
      simpa [hr] using add_le_add hloop hrs
    · simpa [hr] using add_le_add_right hrs r.score

end Total

section BestRule

variable [Score σ] [OrderedScore σ]

theorem le_bestRuleScore {rules : List (UnaryRule σ)} {r : UnaryRule σ} (h : r ∈ rules) :
    r.score ≤ bestRuleScore rules r.parent r.child := by
  induction rules with
  | nil => simp at h
  | cons q rules ih =>
    simp only [bestRuleScore, List.filter_cons] at ih ⊢
    rcases List.mem_cons.mp h with rfl | h
    · simp only [and_self, decide_true, if_true, List.foldr_cons, Score.lt_iff]
      split_ifs with hlt
      · exact le_rfl
      · exact not_lt.mp hlt
    · split_ifs with hq
      · simp only [List.foldr_cons, Score.lt_iff]
        split_ifs with hlt
        · exact (ih h).trans hlt.le
        · exact ih h
      · exact ih h

/-- A rule that no rule between the same symbols is better than has their best score. -/
theorem bestRuleScore_eq {rules : List (UnaryRule σ)} {r : UnaryRule σ} (h : r ∈ rules)
    (hr : ∀ q ∈ rules, q.parent = r.parent → q.child = r.child → q.score ≤ r.score) :
    bestRuleScore rules r.parent r.child = r.score := by
  refine le_antisymm ?_ (le_bestRuleScore h)
  clear h
  induction rules with
  | nil => exact bot_le
  | cons q rules ih =>
    have ih' := ih fun q' hq' => hr q' (by simp [hq'])
    simp only [bestRuleScore, List.filter_cons] at ih' ⊢
    split_ifs with hq
    · simp only [List.foldr_cons, Score.lt_iff]
      split_ifs
      · simp only [decide_eq_true_eq] at hq
        exact hr q (by simp) hq.1 hq.2
      · exact ih'
    · exact ih'

end BestRule

end Constituency
